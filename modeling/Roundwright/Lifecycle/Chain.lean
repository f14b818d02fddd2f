/-
Which lifecycle chains are projected. What the loop and the check that closes it ask of an event list is the law of a
complete chain, together with the guards of the transitions; and one event of a chain may lie about the task of its
attempt.
-/
import Roundwright.Lifecycle.Progress

namespace Roundwright.Lifecycle

open Lib

section Projection

variable {host : Host} {plan : LifecyclePlan} {receipt : SealReceipt} {events done : List LifecycleEvent}
  {e x : LifecycleEvent} {t : Transition} {attempt : Digest}

/-! ## Complete chains -/

/-- The law of a chain: attempts are started once and completed once, invalid ones are settled before the next start, at
most one is accepted, and a formal advancement follows an acceptance that passed. -/
structure DescribedChain (events : List LifecycleEvent) : Prop where
  attempts : ∀ e ∈ events, e.transition = .attemptStarted ∨ e.transition = .attemptCompleted →
    ∃ i s j c, Sole (·.Is .attemptStarted e.attemptIdentity) events i s ∧
      Sole (·.Is .attemptCompleted e.attemptIdentity) events j c ∧
      i < j ∧ c.disposition ≠ .pending ∧ c.SameAttempt s
  unaccepted : ∀ (j : Nat) (c : LifecycleEvent), events[j]? = some c → c.transition = .attemptCompleted →
    c.disposition = .invalidContext →
    ∃ k u, Sole (·.Is .resultUnaccepted c.attemptIdentity) events k u ∧ j < k ∧
      ∀ (i : Nat) (s : LifecycleEvent), events[i]? = some s → s.transition = .attemptStarted → j < i → k < i
  accepted : ∀ (i : Nat) (a : LifecycleEvent), events[i]? = some a → a.transition = .resultAccepted →
    (∀ b ∈ events, b.transition = .resultAccepted → b.attemptIdentity = a.attemptIdentity) ∧
      ∃ (j : Nat) (c : LifecycleEvent), j < i ∧ events[j]? = some c ∧ c.Is .attemptCompleted a.attemptIdentity ∧
        c.role = .supervisor ∧
        (c.disposition = .pass ∨ c.disposition = .findings)
  advanced : ∀ (i : Nat) (a c : LifecycleEvent), events[i]? = some a → a.transition = .resultAccepted → c ∈ events →
    c.Is .attemptCompleted a.attemptIdentity → c.disposition = .pass →
      ∃ k f, Sole (·.transition = .formalRoundAdvanced) events k f ∧ i < k ∧ f.attemptIdentity = a.attemptIdentity
  otherwise : (¬ ∃ a ∈ events, ∃ c ∈ events, a.transition = .resultAccepted ∧ c.Is .attemptCompleted a.attemptIdentity ∧
      c.disposition = .pass) → ∀ f ∈ events, f.transition ≠ .formalRoundAdvanced

/-- What the branches of the loop demand of an event besides: each transition has its disposition, role and flag,
results are of the attempt they name, and only a Supervisor attempt whose context was invalid gets an unaccepted
result. -/
structure Guarded (events : List LifecycleEvent) : Prop where
  started : ∀ s ∈ events, s.transition = .attemptStarted → s.disposition = .pending
  accepted : ∀ (i : Nat) (a : LifecycleEvent), events[i]? = some a → a.transition = .resultAccepted →
    a.role = .supervisor ∧ a.disposition = .accepted ∧ a.acceptedResult = true ∧
      (∃ s ∈ events, s.Is .attemptStarted a.attemptIdentity ∧ a.SameAttempt s) ∧ Sole (·.transition = .resultAccepted) events i a
  unaccepted : ∀ (k : Nat) (u : LifecycleEvent), events[k]? = some u → u.transition = .resultUnaccepted →
    u.role = .supervisor ∧ u.disposition = .unaccepted ∧ u.acceptedResult = false ∧
      (∃ s ∈ events, s.Is .attemptStarted u.attemptIdentity ∧ u.SameAttempt s) ∧
      ∃ (j : Nat) (c : LifecycleEvent), j < k ∧ events[j]? = some c ∧ c.Is .attemptCompleted u.attemptIdentity ∧
        c.disposition = .invalidContext
  advanced : ∀ f ∈ events, f.transition = .formalRoundAdvanced →
    f.role = .supervisor ∧ f.disposition = .accepted ∧ f.acceptedResult = true

/-- What the check that closes the loop says of the events. -/
structure Closed (events : List LifecycleEvent) : Prop where
  completed : ∀ s ∈ events, s.transition = .attemptStarted → ∃ c ∈ events, c.Is .attemptCompleted s.attemptIdentity
  started : ∀ c ∈ events, c.transition = .attemptCompleted → ∃ s ∈ events, s.Is .attemptStarted c.attemptIdentity
  unaccepted : ∀ u ∈ events, u.transition = .resultUnaccepted →
    ∃ c ∈ events, c.Is .attemptCompleted u.attemptIdentity ∧ c.disposition = .invalidContext
  settled : Settled events
  accepted : ∀ a, acceptedOf events = some a → ∃ c, firstOf .attemptCompleted a.attemptIdentity events = some c ∧
    ((c.disposition = .pass ∧ events.countP (fun e => e.transition = .formalRoundAdvanced) = 1) ∨
      (c.disposition = .findings ∧ events.countP (fun e => e.transition = .formalRoundAdvanced) = 0))
  otherwise : acceptedOf events = none → events.countP (fun e => e.transition = .formalRoundAdvanced) = 0

theorem isSome_firstOf : (firstOf t attempt done).isSome ↔ ∃ e ∈ done, e.Is t attempt := by
  rw [Option.isSome_iff_ne_none, ne_eq, firstOf_none, not_forall]
  simp only [Classical.not_imp, not_not]

theorem complete_iff : (Progress.of host events).Complete receipt ↔
    events ≠ [] ∧ Closed events ∧ some receipt.headEventDigest = events.getLast?.map (·.digest host) := by
  have hprojected : (Progress.of host events).projected ≠ [] ↔ events ≠ [] := not_congr List.map_eq_nil_iff
  have hcompleted : (∀ item ∈ (Progress.of host events).started, ((Progress.of host events).completed.lookup item.1).isSome) ↔
      ∀ s ∈ events, s.transition = .attemptStarted → ∃ c ∈ events, c.Is .attemptCompleted s.attemptIdentity := by
    simp only [Progress.lookup_completed, Option.isSome_map, isSome_firstOf]
    exact ⟨fun h s hs ht => h (s.attemptIdentity, s) (mem_recorded.2 ⟨s, hs, ht, rfl⟩), fun h item hitem => by
      obtain ⟨s, hs, ht, rfl⟩ := mem_recorded.1 hitem
      exact h s hs ht⟩
  have hstarted : (∀ item ∈ (Progress.of host events).completed, ((Progress.of host events).started.lookup item.1).isSome) ↔
      ∀ c ∈ events, c.transition = .attemptCompleted → ∃ s ∈ events, s.Is .attemptStarted c.attemptIdentity := by
    simp only [Progress.lookup_started, isSome_firstOf]
    exact ⟨fun h c hc ht => h (c.attemptIdentity, c.disposition) (mem_recorded.2 ⟨c, hc, ht, rfl⟩), fun h item hitem => by
      obtain ⟨c, hc, ht, rfl⟩ := mem_recorded.1 hitem
      exact h c hc ht⟩
  have hunaccepted : (∀ a ∈ (Progress.of host events).unacceptedAttempts,
    (a, .invalidContext) ∈ (Progress.of host events).completed) ↔
      ∀ u ∈ events, u.transition = .resultUnaccepted →
        ∃ c ∈ events, c.Is .attemptCompleted u.attemptIdentity ∧ c.disposition = .invalidContext := by
    constructor
    · intro h u hu ht
      obtain ⟨c, hc, htc, heq⟩ := mem_recorded.1 (h u.attemptIdentity (Progress.mem_unaccepted.2 ⟨u, hu, ht, rfl⟩))
      exact ⟨c, hc, ⟨htc, (congrArg Prod.fst heq).symm⟩, (congrArg Prod.snd heq).symm⟩
    · intro h a ha
      obtain ⟨u, hu, ht, rfl⟩ := Progress.mem_unaccepted.1 ha
      obtain ⟨c, hc, ⟨htc, hid⟩, hinvalid⟩ := h u hu ht
      exact mem_recorded.2 ⟨c, hc, htc, by rw [hid, hinvalid]⟩
  have haccepted : ((((Progress.of host events).acceptedAttempt.isSome ∧ (Progress.of host events).acceptedCount = 1 ∧
        (((Progress.of host events).acceptedDisposition = some .pass ∧ (Progress.of host events).formalAdvanceCount = 1) ∨
          ((Progress.of host events).acceptedDisposition = some .findings ∧ (Progress.of host events).formalAdvanceCount = 0))) ∨
      ((Progress.of host events).acceptedAttempt = none ∧ (Progress.of host events).acceptedCount = 0 ∧
        (Progress.of host events).formalAdvanceCount = 0))) ↔
      (∀ a, acceptedOf events = some a → ∃ c, firstOf .attemptCompleted a.attemptIdentity events = some c ∧
        ((c.disposition = .pass ∧ events.countP (fun e => e.transition = .formalRoundAdvanced) = 1) ∨
          (c.disposition = .findings ∧ events.countP (fun e => e.transition = .formalRoundAdvanced) = 0))) ∧
      (acceptedOf events = none → events.countP (fun e => e.transition = .formalRoundAdvanced) = 0) := by
    cases haccepted : acceptedOf events with
    | none => simp [Progress.of, haccepted]
    | some a =>
      cases hcompletion : firstOf .attemptCompleted a.attemptIdentity events with
      | none => simp [Progress.of, haccepted, hcompletion]
      | some c => simp [Progress.of, haccepted, hcompletion]
  -- each conjunct of the projection is one of the facts above
  unfold Progress.Complete
  rw [hprojected, hcompleted, hstarted, hunaccepted, ← @settled_iff host events, haccepted]
  constructor
  · rintro ⟨hne, ⟨hc, hs⟩, ⟨hu, hsettled⟩, ⟨ha, hnone⟩, hhead⟩
    exact ⟨hne, ⟨hc, hs, hu, hsettled, ha, hnone⟩, hhead⟩
  · rintro ⟨hne, ⟨hc, hs, hu, hsettled, ha, hnone⟩, hhead⟩
    exact ⟨hne, ⟨hc, hs⟩, ⟨hu, hsettled⟩, ⟨ha, hnone⟩, hhead⟩

/-! ## Prefixes and places -/

section Places

variable {i j k : Nat}

theorem firstOf_take (h : Sole (·.Is t attempt) events k x) (hlt : k < i) : firstOf t attempt (events.take i) = some x := by
  cases hfirst : firstOf t attempt (events.take i) with
  | none => exact absurd h.holds (firstOf_none.1 hfirst x (mem_take.2 ⟨k, hlt, h.at_⟩))
  | some y =>
    obtain ⟨hmem, his⟩ := firstOf_some hfirst
    rw [h.eq (List.mem_of_mem_take hmem) his]

theorem firstOf_take_none (h : Sole (·.Is t attempt) events k x) (hle : i ≤ k) : firstOf t attempt (events.take i) = none := by
  refine firstOf_none.2 fun e he his => ?_
  obtain ⟨j, hlt, hj⟩ := mem_take.1 he
  have heq := h.only j e hj his
  omega

theorem acceptedOf_take (h : Sole (·.transition = .resultAccepted) events k x) (hlt : k < i) :
    acceptedOf (events.take i) = some x := by
  cases hfirst : acceptedOf (events.take i) with
  | none => exact absurd h.holds (acceptedOf_none.1 hfirst x (mem_take.2 ⟨k, hlt, h.at_⟩))
  | some y =>
    obtain ⟨hmem, his⟩ := acceptedOf_some hfirst
    rw [h.eq (List.mem_of_mem_take hmem) his]

theorem acceptedOf_take_none (h : Sole (·.transition = .resultAccepted) events k x) (hle : i ≤ k) :
    acceptedOf (events.take i) = none := by
  refine acceptedOf_none.2 fun e he his => ?_
  obtain ⟨j, hlt, hj⟩ := mem_take.1 he
  have heq := h.only j e hj his
  omega

end Places

/-! ## A chain whose events are allowed and that is closed -/

section Allowed

variable {i j k : Nat} {a c f u : LifecycleEvent}

section

variable (h : Prefixwise Allowed events)

include h

theorem start_sole (hat : events[i]? = some x) (ht : x.transition = .attemptStarted) :
    Sole (·.Is .attemptStarted x.attemptIdentity) events i x := by
  refine sole_of_first hat ⟨ht, rfl⟩ fun j b hj hb => ?_
  have hallowed := h j b hj
  simp only [Allowed, hb.1] at hallowed
  rw [← hb.2]
  exact firstOf_none.1 hallowed.1

theorem completion_sole (hat : events[i]? = some x) (ht : x.transition = .attemptCompleted) :
    Sole (·.Is .attemptCompleted x.attemptIdentity) events i x := by
  refine sole_of_first hat ⟨ht, rfl⟩ fun j b hj hb => ?_
  have hallowed := h j b hj
  simp only [Allowed, hb.1] at hallowed
  rw [← hb.2]
  exact firstOf_none.1 hallowed.1

theorem unaccepted_sole (hat : events[i]? = some x) (ht : x.transition = .resultUnaccepted) :
    Sole (·.Is .resultUnaccepted x.attemptIdentity) events i x := by
  refine sole_of_first hat ⟨ht, rfl⟩ fun j b hj hb => ?_
  have hallowed := h j b hj
  simp only [Allowed, hb.1] at hallowed
  rw [← hb.2]
  exact hallowed.1

theorem accepted_sole (hat : events[i]? = some x) (ht : x.transition = .resultAccepted) :
    Sole (·.transition = .resultAccepted) events i x := by
  refine sole_of_first hat ht fun j b hj hb => ?_
  have hallowed := h j b hj
  simp only [Allowed, hb] at hallowed
  exact acceptedOf_none.1 hallowed.1

theorem completion_started (hat : events[j]? = some c) (ht : c.transition = .attemptCompleted) :
    ∃ i s, Sole (·.Is .attemptStarted c.attemptIdentity) events i s ∧ i < j ∧ c.disposition ≠ .pending ∧ c.SameAttempt s := by
  have hallowed := h j c hat
  simp only [Allowed, ht] at hallowed
  obtain ⟨-, hdisposition, s, hs, hsame⟩ := hallowed
  obtain ⟨hmem, hst, hid⟩ := firstOf_some hs
  obtain ⟨i, hlt, hi⟩ := mem_take.1 hmem
  exact ⟨i, s, hid ▸ start_sole h hi hst, hlt, hdisposition, hsame⟩

/-- The completion that an earlier one of the same attempt is. -/
theorem completion_of_first (hfirst : firstOf .attemptCompleted attempt (events.take i) = some c) :
    ∃ j, j < i ∧ events[j]? = some c ∧ Sole (·.Is .attemptCompleted attempt) events j c := by
  obtain ⟨hmem, ht, rfl⟩ := firstOf_some hfirst
  obtain ⟨j, hlt, hj⟩ := mem_take.1 hmem
  exact ⟨j, hlt, hj, completion_sole h hj ht⟩

theorem accepted_completion (hat : events[i]? = some a) (ht : a.transition = .resultAccepted) : ∃ j c, j < i ∧
    Sole (·.Is .attemptCompleted a.attemptIdentity) events j c ∧ c.role = .supervisor ∧
    (c.disposition = .pass ∨ c.disposition = .findings) := by
  have hallowed := h i a hat
  simp only [Allowed, ht] at hallowed
  obtain ⟨-, hrole, -, -, ⟨s, hs, hsame⟩, c, hc, hkind⟩ := hallowed
  obtain ⟨j, hlt, hj, hsole⟩ := completion_of_first h hc
  obtain ⟨k, s', hstart, -, -, hsame'⟩ := completion_started h hj hsole.holds.1
  obtain ⟨hmem, his⟩ := firstOf_some hs
  -- the start that the acceptance agrees with is the one that the completion agrees with
  obtain rfl : s = s' := hstart.eq (List.mem_of_mem_take hmem) ⟨his.1, his.2.trans hsole.holds.2.symm⟩
  exact ⟨j, c, hlt, hsole, hsame'.1.trans (hsame.1.symm.trans hrole), hkind⟩

theorem formal_accepted (hat : events[k]? = some f) (ht : f.transition = .formalRoundAdvanced) : ∃ i a j c, i < k ∧
    events[i]? = some a ∧
    a.transition = .resultAccepted ∧ a.attemptIdentity = f.attemptIdentity ∧
    Sole (·.Is .attemptCompleted a.attemptIdentity) events j c ∧
    c.disposition = .pass := by
  have hallowed := h k f hat
  simp only [Allowed, ht] at hallowed
  obtain ⟨-, -, -, a, ha, hid, c, hc, hpass⟩ := hallowed
  obtain ⟨hmem, hta⟩ := acceptedOf_some ha
  obtain ⟨i, hlt, hi⟩ := mem_take.1 hmem
  obtain ⟨j, -, -, hsole⟩ := completion_of_first h hc
  exact ⟨i, a, j, c, hlt, hi, hta, hid, hid ▸ hsole, hpass⟩

theorem acceptedOf_eq (hat : events[i]? = some a) (ht : a.transition = .resultAccepted) : acceptedOf events = some a := by
  cases haccepted : acceptedOf events with
  | none => exact absurd ht (acceptedOf_none.1 haccepted a (List.mem_of_getElem? hat))
  | some b =>
    obtain ⟨hmem, htb⟩ := acceptedOf_some haccepted
    rw [(accepted_sole h hat ht).eq hmem htb]

theorem described_of_allowed (hclosed : Closed events) : DescribedChain events where
  attempts e he ht := by
    have hcompletion : ∃ (j : Nat) (c : LifecycleEvent), events[j]? = some c ∧ c.Is .attemptCompleted e.attemptIdentity := by
      rcases ht with ht | ht
      · obtain ⟨c, hc, his⟩ := hclosed.completed e he ht
        obtain ⟨j, hj⟩ := List.mem_iff_getElem?.1 hc
        exact ⟨j, c, hj, his⟩
      · obtain ⟨j, hj⟩ := List.mem_iff_getElem?.1 he
        exact ⟨j, e, hj, ht, rfl⟩
    obtain ⟨j, c, hj, htc, hid⟩ := hcompletion
    obtain ⟨i, s, hsole, hlt, hdisposition, hsame⟩ := completion_started h hj htc
    exact ⟨i, s, j, c, hid ▸ hsole, hid ▸ completion_sole h hj htc, hlt, hdisposition, hsame⟩
  unaccepted j c hj ht hinvalid := by
    obtain ⟨u, hu, htu, hid⟩ := hclosed.settled c (List.mem_of_getElem? hj) ht hinvalid
    obtain ⟨k, hk⟩ := List.mem_iff_getElem?.1 hu
    have hsole := unaccepted_sole h hk htu
    rw [hid] at hsole
    have hallowed := h k u hk
    simp only [Allowed, htu] at hallowed
    obtain ⟨-, -, -, -, -, c', hc', -⟩ := hallowed
    obtain ⟨hmem, his⟩ := firstOf_some hc'
    rw [hid] at his
    refine ⟨k, u, hsole, ((completion_sole h hj ht).of_mem_take hmem his).1, fun i s hi hts hlt => ?_⟩
    -- a start finds the completion before it settled
    have hstart := h i s hi
    simp only [Allowed, hts] at hstart
    obtain ⟨u', hu', his'⟩ := hstart.2.2 c (mem_take.2 ⟨j, hlt, hj⟩) ht hinvalid
    exact (hsole.of_mem_take hu' his').1
  accepted i a hi ht := by
    obtain ⟨j, c, hlt, hsole, hrole, hkind⟩ := accepted_completion h hi ht
    exact ⟨fun b hb htb => by rw [(accepted_sole h hi ht).eq hb htb], j, c, hlt, hsole.at_, hsole.holds, hrole, hkind⟩
  advanced i a c hi ht hc his hpass := by
    obtain ⟨c', hfirst, hcases⟩ := hclosed.accepted a (acceptedOf_eq h hi ht)
    obtain ⟨j, hj⟩ := List.mem_iff_getElem?.1 hc
    have hsole := completion_sole h hj his.1
    rw [his.2] at hsole
    obtain ⟨hmem, his'⟩ := firstOf_some hfirst
    obtain rfl : c' = c := hsole.eq hmem his'
    obtain ⟨-, hcount⟩ | ⟨hfindings, -⟩ := hcases
    · obtain ⟨k, f, hf⟩ := exists_sole_iff.2 hcount
      obtain ⟨i', a', -, -, hlt, hi', ht', hid, -⟩ := formal_accepted h hf.at_ hf.holds
      obtain rfl := (accepted_sole h hi ht).only i' a' hi' ht'
      obtain rfl := Option.some.inj (hi.symm.trans hi')
      exact ⟨k, f, hf, hlt, hid.symm⟩
    · rw [hpass] at hfindings
      cases hfindings
  otherwise hnone f hf ht := by
    obtain ⟨k, hk⟩ := List.mem_iff_getElem?.1 hf
    obtain ⟨i, a, j, c, -, hi, hta, -, hsole, hpass⟩ := formal_accepted h hk ht
    exact hnone ⟨a, List.mem_of_getElem? hi, c, hsole.mem, hta, hsole.holds, hpass⟩

theorem guarded_of_allowed : Guarded events where
  started s hs ht := by
    obtain ⟨i, hi⟩ := List.mem_iff_getElem?.1 hs
    have hallowed := h i s hi
    simp only [Allowed, ht] at hallowed
    exact hallowed.2.1
  accepted i a hi ht := by
    have hallowed := h i a hi
    simp only [Allowed, ht] at hallowed
    obtain ⟨-, hrole, hdisposition, hflag, ⟨s, hs, hsame⟩, -⟩ := hallowed
    obtain ⟨hmem, his⟩ := firstOf_some hs
    exact ⟨hrole, hdisposition, hflag, ⟨s, List.mem_of_mem_take hmem, his, hsame⟩, accepted_sole h hi ht⟩
  unaccepted k u hk ht := by
    have hallowed := h k u hk
    simp only [Allowed, ht] at hallowed
    obtain ⟨-, hrole, hdisposition, hflag, ⟨s, hs, hsame⟩, c, hc, hinvalid⟩ := hallowed
    obtain ⟨hmem, his⟩ := firstOf_some hs
    obtain ⟨j, hlt, hj, hsole⟩ := completion_of_first h hc
    exact ⟨hrole, hdisposition, hflag, ⟨s, List.mem_of_mem_take hmem, his, hsame⟩, j, c, hlt, hj, hsole.holds, hinvalid⟩
  advanced f hf ht := by
    obtain ⟨k, hk⟩ := List.mem_iff_getElem?.1 hf
    have hallowed := h k f hk
    simp only [Allowed, ht] at hallowed
    exact ⟨hallowed.1, hallowed.2.1, hallowed.2.2.1⟩

end

end Allowed

/-! ## A complete chain is allowed and closed -/

section Described

variable {i j k : Nat} {a c f u : LifecycleEvent}

theorem allowed_of_described (hchain : DescribedChain events) (hguard : Guarded events) : Prefixwise Allowed events := by
  intro i e hi
  have he : e ∈ events := List.mem_of_getElem? hi
  unfold Allowed
  cases ht : e.transition with
  | attemptStarted =>
    obtain ⟨k, s, -, -, hsole, -⟩ := hchain.attempts e he (.inl ht)
    obtain rfl := hsole.only i e hi ⟨ht, rfl⟩
    refine ⟨firstOf_take_none hsole (Nat.le_refl i), hguard.started e he ht, fun c hc htc hinvalid => ?_⟩
    obtain ⟨j, hlt, hj⟩ := mem_take.1 hc
    obtain ⟨k, u, hu, -, hbetween⟩ := hchain.unaccepted j c hj htc hinvalid
    exact ⟨u, mem_take.2 ⟨k, hbetween i e hi ht hlt, hu.at_⟩, hu.holds⟩
  | attemptCompleted =>
    obtain ⟨k, s, j, c, hs, hc, hlt, hdisposition, hsame⟩ := hchain.attempts e he (.inr ht)
    obtain rfl := hc.only i e hi ⟨ht, rfl⟩
    obtain rfl := Option.some.inj (hi.symm.trans hc.at_)
    exact ⟨firstOf_take_none hc (Nat.le_refl i), hdisposition, s, firstOf_take hs hlt, hsame⟩
  | resultAccepted =>
    obtain ⟨hrole, hdisposition, hflag, ⟨s, hs, his, hsame⟩, hsole⟩ := hguard.accepted i e hi ht
    obtain ⟨-, j, c, hlt, hj, hisc, -, hkind⟩ := hchain.accepted i e hi ht
    obtain ⟨k, s', j', c', hs', hc', hbefore, -⟩ := hchain.attempts c (List.mem_of_getElem? hj) (.inr hisc.1)
    rw [hisc.2] at hs' hc'
    obtain rfl := hc'.only j c hj hisc
    obtain rfl := Option.some.inj (hj.symm.trans hc'.at_)
    obtain rfl := hs'.eq hs his
    exact ⟨acceptedOf_take_none hsole (Nat.le_refl i), hrole, hdisposition, hflag,
      ⟨s, firstOf_take hs' (hbefore.trans hlt), hsame⟩, c, firstOf_take hc' hlt, hkind⟩
  | resultUnaccepted =>
    obtain ⟨hrole, hdisposition, hflag, ⟨s, hs, his, hsame⟩, j, c, hlt, hj, hisc, hinvalid⟩ := hguard.unaccepted i e hi ht
    obtain ⟨k, s', j', c', hs', hc', hbefore, -⟩ := hchain.attempts c (List.mem_of_getElem? hj) (.inr hisc.1)
    rw [hisc.2] at hs' hc'
    obtain rfl := hc'.only j c hj hisc
    obtain rfl := Option.some.inj (hj.symm.trans hc'.at_)
    obtain rfl := hs'.eq hs his
    obtain ⟨k', u, hu, -⟩ := hchain.unaccepted j c hj hisc.1 hinvalid
    rw [hisc.2] at hu
    obtain rfl := hu.only i e hi ⟨ht, rfl⟩
    refine ⟨fun u' hu' his' => ?_, hrole, hdisposition, hflag,
      ⟨s, firstOf_take hs' (hbefore.trans hlt), hsame⟩, c, firstOf_take hc' hlt, hinvalid⟩
    have habsurd := (hu.of_mem_take hu' his').1
    omega
  | candidateMoved => trivial
  | formalRoundAdvanced =>
    obtain ⟨hrole, hdisposition, hflag⟩ := hguard.advanced e he ht
    -- there is an acceptance that passed, or there would be no formal advancement
    by_cases hpassed : ∃ a ∈ events, ∃ c ∈ events, a.transition = .resultAccepted ∧ c.Is .attemptCompleted a.attemptIdentity ∧
        c.disposition = .pass
    · obtain ⟨a, ha, c, hc, hta, hisc, hpass⟩ := hpassed
      obtain ⟨j, hj⟩ := List.mem_iff_getElem?.1 ha
      obtain ⟨k, f, hf, hlt, hid⟩ := hchain.advanced j a c hj hta hc hisc hpass
      obtain rfl := hf.only i e hi ht
      obtain rfl := Option.some.inj (hi.symm.trans hf.at_)
      obtain ⟨-, -, -, -, hsole⟩ := hguard.accepted j a hj hta
      obtain ⟨-, m, c', hbefore, hm, hisc', -⟩ := hchain.accepted j a hj hta
      obtain ⟨-, -, n, c'', -, hc'', -⟩ := hchain.attempts c hc (.inr hisc.1)
      rw [hisc.2] at hc''
      obtain rfl := hc''.only m c' hm hisc'
      obtain rfl := hc''.eq hc hisc
      exact ⟨hrole, hdisposition, hflag, a, acceptedOf_take hsole hlt, hid.symm, c,
        hid ▸ firstOf_take hc'' (hbefore.trans hlt), hpass⟩
    · exact absurd ht (hchain.otherwise hpassed e he)

theorem closed_of_described (hchain : DescribedChain events) (hguard : Guarded events) : Closed events where
  completed s hs ht := by
    obtain ⟨_, _, _, c, -, hc, -⟩ := hchain.attempts s hs (.inl ht)
    exact ⟨c, hc.mem, hc.holds⟩
  started c hc ht := by
    obtain ⟨_, s, _, _, hs, -⟩ := hchain.attempts c hc (.inr ht)
    exact ⟨s, hs.mem, hs.holds⟩
  unaccepted u hu ht := by
    obtain ⟨k, hk⟩ := List.mem_iff_getElem?.1 hu
    obtain ⟨-, -, -, -, j, c, -, hj, his, hinvalid⟩ := hguard.unaccepted k u hk ht
    exact ⟨c, List.mem_of_getElem? hj, his, hinvalid⟩
  settled c hc ht hinvalid := by
    obtain ⟨j, hj⟩ := List.mem_iff_getElem?.1 hc
    obtain ⟨_, u, hu, -⟩ := hchain.unaccepted j c hj ht hinvalid
    exact ⟨u, hu.mem, hu.holds⟩
  accepted a haccepted := by
    obtain ⟨ha, hta⟩ := acceptedOf_some haccepted
    obtain ⟨i, hi⟩ := List.mem_iff_getElem?.1 ha
    obtain ⟨-, -, -, -, hsole⟩ := hguard.accepted i a hi hta
    obtain ⟨-, j, c, -, hj, hisc, -, hkind⟩ := hchain.accepted i a hi hta
    obtain ⟨-, -, m, c', -, hc', -⟩ := hchain.attempts c (List.mem_of_getElem? hj) (.inr hisc.1)
    rw [hisc.2] at hc'
    obtain rfl := hc'.eq (List.mem_of_getElem? hj) hisc
    have hfirst : firstOf .attemptCompleted a.attemptIdentity events = some c := by
      have hall := firstOf_take hc' (List.getElem?_eq_some_iff.1 hc'.at_).1
      rwa [List.take_length] at hall
    refine ⟨c, hfirst, ?_⟩
    rcases hkind with hpass | hfindings
    · obtain ⟨k, f, hf, -⟩ := hchain.advanced i a c hi hta hc'.mem hisc hpass
      exact .inl ⟨hpass, exists_sole_iff.1 ⟨k, f, hf⟩⟩
    · refine .inr ⟨hfindings, ?_⟩
      rw [List.countP_eq_zero]
      intro f hf htf
      refine hchain.otherwise ?_ f hf (by simpa using htf)
      rintro ⟨b, hb, d, hd, htb, hisd, hpass⟩
      obtain rfl := hsole.eq hb htb
      obtain rfl := hc'.eq hd hisd
      rw [hpass] at hfindings
      cases hfindings
  otherwise hnone := by
    rw [List.countP_eq_zero]
    intro f hf htf
    refine hchain.otherwise ?_ f hf (by simpa using htf)
    rintro ⟨a, ha, -, -, hta, -⟩
    exact acceptedOf_none.1 hnone a ha hta

end Described

theorem allowed_closed_iff : Prefixwise Allowed events ∧ Closed events ↔ DescribedChain events ∧ Guarded events :=
  ⟨fun h => ⟨described_of_allowed h.1 h.2, guarded_of_allowed h.1⟩,
    fun h => ⟨allowed_of_described h.1 h.2, closed_of_described h.1 h.2⟩⟩

/-! ## Projection -/

/-- The receipt is of this plan and of as many events. -/
structure Seals (host : Host) (plan : LifecyclePlan) (events : List LifecycleEvent) (receipt : SealReceipt) : Prop where
  candidate : receipt.candidateSha = plan.candidateSha
  ready : receipt.readyAt = plan.readyAt
  window : receipt.windowIdentity = plan.windowIdentity
  repository : receipt.repositoryIdentity = plan.repositoryIdentity
  sealed : receipt.planDigest = host.digestValue plan.payload
  count : receipt.eventCount = events.length

/-- The events are bound to the plan, numbered from 0, and chained to the head that the receipt names. -/
structure Bound (host : Host) (plan : LifecyclePlan) (events : List LifecycleEvent) (receipt : SealReceipt) : Prop where
  chained : Prefixwise (fun done e => InBinding plan done.length (done.getLast?.map (·.digest host)) e) events
  head : events.getLast?.map (·.digest host) = some receipt.headEventDigest

theorem project_ok {p : LifecycleShadowProjection} (h : projectLifecycleEvents host plan events receipt = .ok p) :
    (DescribedChain events ∧ Guarded events) ∧ p.events = events.map (·.projected host) := by
  simp only [projectLifecycleEvents, bind_eq_ok, exists_unit, refuse_eq_ok, not_not, pure_eq_ok] at h
  obtain ⟨-, -, -, s, hloop, hcomplete, rfl⟩ := h
  obtain ⟨htaken, rfl⟩ := loop_ok.1 hloop
  obtain ⟨-, hclosed, -⟩ := complete_iff.1 hcomplete
  exact ⟨allowed_closed_iff.1 ⟨(prefixwise_and.1 htaken).2, hclosed⟩, rfl⟩

theorem project_of_chain (hplan : validatedPlan host plan = .ok ()) (hreceipt : receiptValue host receipt = .ok ())
    (hseals : Seals host plan events receipt) (hbound : Bound host plan events receipt) (hchain : DescribedChain events)
    (hguard : Guarded events) : ∃ p, projectLifecycleEvents host plan events receipt = .ok p := by
  obtain ⟨hallowed, hclosed⟩ := allowed_closed_iff.2 ⟨hchain, hguard⟩
  have hne : events ≠ [] := by
    rintro rfl
    have hcount : ¬ receipt.eventCount < 1 := by
      simp only [receiptValue, refuse_eq_ok, not_or] at hreceipt
      exact hreceipt.2.2.2.1
    rw [hseals.count] at hcount
    exact hcount (by decide)
  have hloop := loop_ok.2 ⟨prefixwise_and.2 ⟨hbound.chained, hallowed⟩, rfl⟩
  have hcomplete : (Progress.of host events).Complete receipt := complete_iff.2 ⟨hne, hclosed, hbound.head.symm⟩
  simp only [projectLifecycleEvents, bind_eq_ok, exists_unit, refuse_eq_ok, not_not, pure_eq_ok, not_or]
  exact ⟨_, hplan, hreceipt, ⟨hseals.candidate, hseals.ready, hseals.window, hseals.repository, hseals.sealed, hseals.count⟩, _, hloop,
    hcomplete, rfl⟩

/-- A bound chain is projected exactly when it is complete and every event passes the guards of its transition. -/
theorem projects_complete_chains (host : Host) (plan : LifecyclePlan) (events : List LifecycleEvent)
    (receipt : SealReceipt) (hplan : validatedPlan host plan = .ok ()) (hreceipt : receiptValue host receipt = .ok ())
    (hseals : Seals host plan events receipt) (hbound : Bound host plan events receipt) :
    ((∃ p, projectLifecycleEvents host plan events receipt = .ok p) ↔ DescribedChain events ∧ Guarded events) ∧
      ∀ p, projectLifecycleEvents host plan events receipt = .ok p → p.events = events.map (·.projected host) :=
  ⟨⟨fun ⟨_, h⟩ => (project_ok h).1, fun ⟨hchain, hguard⟩ => project_of_chain hplan hreceipt hseals hbound hchain hguard⟩,
    fun _ h => (project_ok h).2⟩

end Projection

namespace Sample

def digest (n : Nat) : Digest := .sha256 (.ofNat 64 n)

def plan : LifecyclePlan where
  schema := harnessPlanSchema
  windowIdentity := digest 1
  repositoryIdentity := repositoryIdentity .sample
  candidateSha := .ofNat 40 1
  readyAt := 10
  producerIdentity := producerIdentity .sample
  storeIdentity := digest 2
  capturePlanDigest := digest 3
  reviewEpoch := 1
  reviewRound := 1
  reviewMode := .complete

/-- An event of the one attempt, before it is numbered and chained. -/
def event (role : LifecycleRole) (transition : Transition) (disposition : Disposition) (task : Digest) : LifecycleEvent where
  schema := harnessEventSchema
  windowIdentity := plan.windowIdentity
  repositoryIdentity := plan.repositoryIdentity
  candidateSha := plan.candidateSha
  sequence := 0
  occurredAt := 11
  role := role
  taskIdentity := task
  attemptIdentity := digest 5
  reviewEpoch := 1
  reviewRound := 1
  reviewMode := .complete
  reviewAttempt := 1
  transition := transition
  disposition := disposition
  acceptedResult := disposition = .accepted
  successorCandidateSha := none
  predecessorEventDigest := none
  artifactReferences := []
  attempted := Nat.le_refl 1

/-- The event after those done. -/
def link (done : List LifecycleEvent) (e : LifecycleEvent) : LifecycleEvent :=
  { e with sequence := done.length, predecessorEventDigest := done.getLast?.map (·.digest .sample) }

def chain (events : List LifecycleEvent) : List LifecycleEvent := events.foldl (fun done e => done ++ [link done e]) []

def unsigned (events : List LifecycleEvent) : SealReceipt where
  schema := harnessSealReceiptSchema
  status := "sealed"
  eventSchema := harnessEventSchema
  planDigest := Host.sample.digestValue plan.payload
  windowIdentity := plan.windowIdentity
  repositoryIdentity := plan.repositoryIdentity
  candidateSha := plan.candidateSha
  readyAt := plan.readyAt
  eventCount := events.length
  headEventDigest := (events.getLast?.map (·.digest .sample)).getD (digest 0)
  headEntryDigest := digest 6
  manifestDigest := digest 7
  ledgerDigest := digest 8
  retentionIdentity := digest 9
  receiptDigest := digest 0

def receipt (events : List LifecycleEvent) : SealReceipt :=
  { unsigned events with receiptDigest := Host.sample.digestValue (unsigned events).core }

/-- A Supervisor attempt that passes, is accepted, and advances the round in the name of a task. -/
def passed (task : Digest) : List LifecycleEvent := chain
  [event .supervisor .attemptStarted .pending (digest 4), event .supervisor .attemptCompleted .pass (digest 4),
    event .supervisor .resultAccepted .accepted (digest 4), event .supervisor .formalRoundAdvanced .accepted task]

/-- A Worker attempt whose context was invalid, with its unaccepted result. -/
def invalidWorker : List LifecycleEvent := chain
  [event .worker .attemptStarted .pending (digest 4), event .worker .attemptCompleted .invalidContext (digest 4),
    event .worker .resultUnaccepted .unaccepted (digest 4)]

theorem receipt_seals (events : List LifecycleEvent) : Seals .sample plan events (receipt events) := ⟨rfl, rfl, rfl, rfl, rfl, rfl⟩

theorem projected_of_isSome {host : Host} {plan : LifecyclePlan} {events : List LifecycleEvent} {receipt : SealReceipt}
    (h : (projectLifecycleEvents host plan events receipt).toOption.isSome = true) :
    ∃ p, projectLifecycleEvents host plan events receipt = .ok p := by
  cases hproject : projectLifecycleEvents host plan events receipt with
  | ok p => exact ⟨p, rfl⟩
  | error message =>
    rw [hproject] at h
    cases h

end Sample

open Sample in
theorem projects_complete_chains_passed :
    DescribedChain (passed (digest 4)) ∧ Guarded (passed (digest 4)) :=
  (projects_complete_chains .sample plan (passed (digest 4)) (receipt (passed (digest 4)))
    (by decide +kernel) (by decide +kernel) (receipt_seals _) ⟨by decide +kernel, by decide +kernel⟩).1.1
    (projected_of_isSome (by decide +kernel))

variable {events : List LifecycleEvent} {e x : LifecycleEvent} {attempt : Digest}

theorem getElem?_three {a b c : LifecycleEvent} {i : Nat} :
    [a, b, c][i]? = some x ↔ (i = 0 ∧ x = a) ∨ (i = 1 ∧ x = b) ∨ (i = 2 ∧ x = c) := by
  match i with
  | 0 => simp [eq_comm]
  | 1 => simp [eq_comm]
  | 2 => simp [eq_comm]
  | i + 3 => simp

/-- The law has nothing against an attempt, of whatever role, whose context was invalid and that was settled. -/
theorem described_settled {s c u : LifecycleEvent} (hs : s.Is .attemptStarted attempt)
    (hc : c.Is .attemptCompleted attempt) (hu : u.Is .resultUnaccepted attempt)
    (hinvalid : c.disposition = .invalidContext) (hsame : c.SameAttempt s) :
    DescribedChain [s, c, u] := by
  have hplaces : ∀ {t : Transition} {i : Nat} {x : LifecycleEvent}, [s, c, u][i]? = some x → x.transition = t →
      (t = .attemptStarted ∧ i = 0 ∧ x = s) ∨ (t = .attemptCompleted ∧ i = 1 ∧ x = c) ∨ (t = .resultUnaccepted ∧ i = 2 ∧ x = u) := by
    rintro t i x hi rfl
    rcases getElem?_three.1 hi with ⟨rfl, rfl⟩ | ⟨rfl, rfl⟩ | ⟨rfl, rfl⟩
    · exact .inl ⟨hs.1, rfl, rfl⟩
    · exact .inr (.inl ⟨hc.1, rfl, rfl⟩)
    · exact .inr (.inr ⟨hu.1, rfl, rfl⟩)
  -- with three events every clause is about a known place
  have hstart : Sole (·.Is .attemptStarted attempt) [s, c, u] 0 s := ⟨rfl, hs, fun j b hj hb => by
    rcases hplaces hj hb.1 with ⟨-, rfl, -⟩ | ⟨h, -⟩ | ⟨h, -⟩
    · rfl
    · cases h
    · cases h⟩
  have hcompletion : Sole (·.Is .attemptCompleted attempt) [s, c, u] 1 c := ⟨rfl, hc, fun j b hj hb => by
    rcases hplaces hj hb.1 with ⟨h, -⟩ | ⟨-, rfl, -⟩ | ⟨h, -⟩
    · cases h
    · rfl
    · cases h⟩
  have hsettled : Sole (·.Is .resultUnaccepted attempt) [s, c, u] 2 u := ⟨rfl, hu, fun j b hj hb => by
    rcases hplaces hj hb.1 with ⟨h, -⟩ | ⟨h, -⟩ | ⟨-, rfl, -⟩
    · cases h
    · cases h
    · rfl⟩
  have hpending : c.disposition ≠ .pending := by
    rw [hinvalid]
    decide
  constructor
  · intro e he ht
    have hid : e.attemptIdentity = attempt := by
      simp only [List.mem_cons, List.not_mem_nil, or_false] at he
      rcases he with rfl | rfl | rfl
      · exact hs.2
      · exact hc.2
      · exact hu.2
    rw [hid]
    exact ⟨0, s, 1, c, hstart, hcompletion, Nat.one_pos, hpending, hsame⟩
  · intro j c' hj ht _
    rcases hplaces hj ht with ⟨h, -⟩ | ⟨-, rfl, rfl⟩ | ⟨h, -⟩
    · cases h
    · refine ⟨2, u, by rw [hc.2]; exact hsettled, by decide, fun i s' hi hts hlt => ?_⟩
      rcases hplaces hi hts with ⟨-, rfl, -⟩ | ⟨h, -⟩ | ⟨h, -⟩
      · cases hlt
      · cases h
      · cases h
    · cases h
  · intro i a hi ht
    rcases hplaces hi ht with ⟨h, -⟩ | ⟨h, -⟩ | ⟨h, -⟩ <;> cases h
  · intro i a _ hi ht
    rcases hplaces hi ht with ⟨h, -⟩ | ⟨h, -⟩ | ⟨h, -⟩ <;> cases h
  · intro _ f hf ht
    obtain ⟨k, hk⟩ := List.mem_iff_getElem?.1 hf
    rcases hplaces hk ht with ⟨h, -⟩ | ⟨h, -⟩ | ⟨h, -⟩ <;> cases h

open Sample in
/-- A Worker attempt whose context was invalid is never settled: only a Supervisor's result can be unaccepted. -/
theorem invalid_worker_refused :
    validatedPlan .sample plan = .ok () ∧ receiptValue .sample (receipt invalidWorker) = .ok () ∧
      Seals .sample plan invalidWorker (receipt invalidWorker) ∧
      Bound .sample plan invalidWorker (receipt invalidWorker) ∧ DescribedChain invalidWorker ∧
      ¬ ∃ p, projectLifecycleEvents .sample plan invalidWorker (receipt invalidWorker) = .ok p := by
  refine ⟨by decide +kernel, by decide +kernel, receipt_seals _, ⟨by decide +kernel, by decide +kernel⟩, ?_, ?_⟩
  · exact @described_settled (digest 5) _ _ _ ⟨rfl, rfl⟩ ⟨rfl, rfl⟩ ⟨rfl, rfl⟩ rfl ⟨rfl, rfl, rfl⟩
  · rintro ⟨p, h⟩
    have hrefused : (projectLifecycleEvents .sample plan invalidWorker
      (receipt invalidWorker)).toOption.isNone = true := by decide +kernel
    rw [h] at hrefused
    cases hrefused

/-! ## One identity per attempt -/

theorem LifecycleEvent.SameAttempt.symm {a b : LifecycleEvent} (h : a.SameAttempt b) : b.SameAttempt a :=
    ⟨h.1.symm, h.2.1.symm, h.2.2.symm⟩

theorem LifecycleEvent.SameAttempt.trans {a b c : LifecycleEvent} (h : a.SameAttempt b) (h' : b.SameAttempt c) : a.SameAttempt c :=
  ⟨h.1.trans h'.1, h.2.1.trans h'.2.1, h.2.2.trans h'.2.2⟩

/-- All events of one attempt, other than moves of the candidate, carry one role, task and review attempt. -/
def OneIdentity (events : List LifecycleEvent) : Prop :=
  ∀ a ∈ events, ∀ b ∈ events, a.transition ≠ .candidateMoved → b.transition ≠ .candidateMoved →
    a.attemptIdentity = b.attemptIdentity → a.SameAttempt b

/-- A formal advancement carries the task and the review attempt of the accepted result. -/
def AdvancesAsAccepted (events : List LifecycleEvent) : Prop :=
  ∀ f ∈ events, f.transition = .formalRoundAdvanced → ∀ a ∈ events, a.transition = .resultAccepted →
    f.taskIdentity = a.taskIdentity ∧ f.reviewAttempt = a.reviewAttempt

/-- A formal advancement names an accepted result, and any accepted result. -/
theorem formal_names (hchain : DescribedChain events) (hguard : Guarded events) {f : LifecycleEvent} (hf : f ∈ events)
    (ht : f.transition = .formalRoundAdvanced) : ∃ a ∈ events, a.transition = .resultAccepted ∧
      ∀ b ∈ events, b.transition = .resultAccepted → b = a ∧ f.attemptIdentity = b.attemptIdentity := by
  obtain ⟨k, hk⟩ := List.mem_iff_getElem?.1 hf
  obtain ⟨i, a, -, -, -, hi, hta, hid, -⟩ := formal_accepted (allowed_of_described hchain hguard) hk ht
  refine ⟨a, List.mem_of_getElem? hi, hta, fun b hb htb => ?_⟩
  obtain ⟨-, -, -, -, hsole⟩ := hguard.accepted i a hi hta
  obtain rfl := hsole.eq hb htb
  exact ⟨rfl, hid.symm⟩

/-- Every event of a complete chain is of an attempt that was started, and as it was started. -/
theorem same_as_start (hchain : DescribedChain events) (hguard : Guarded events) (hformal : AdvancesAsAccepted events)
    (he : e ∈ events) (ht : e.transition ≠ .candidateMoved) : ∃ s ∈ events, s.Is .attemptStarted e.attemptIdentity ∧
    e.SameAttempt s := by
  have hresult : ∀ a ∈ events, a.transition = .resultAccepted → ∃ s ∈ events, s.Is .attemptStarted a.attemptIdentity ∧
    a.SameAttempt s := by
    intro a ha hta
    obtain ⟨i, hi⟩ := List.mem_iff_getElem?.1 ha
    exact (hguard.accepted i a hi hta).2.2.2.1
  cases hkind : e.transition with
  | attemptStarted => exact ⟨e, he, ⟨hkind, rfl⟩, rfl, rfl, rfl⟩
  | attemptCompleted =>
    obtain ⟨_, s, _, c, hs, hc, -, -, hsame⟩ := hchain.attempts e he (.inr hkind)
    obtain rfl := hc.eq he ⟨hkind, rfl⟩
    exact ⟨s, hs.mem, hs.holds, hsame⟩
  | resultAccepted => exact hresult e he hkind
  | resultUnaccepted =>
    obtain ⟨i, hi⟩ := List.mem_iff_getElem?.1 he
    exact (hguard.unaccepted i e hi hkind).2.2.2.1
  | candidateMoved => exact absurd hkind ht
  | formalRoundAdvanced =>
    obtain ⟨a, ha, hta, hnames⟩ := formal_names hchain hguard he hkind
    obtain ⟨s, hs, his, hsame⟩ := hresult a ha hta
    obtain ⟨htask, hattempt⟩ := hformal e he hkind a ha hta
    have hrole : e.role = a.role := by
      obtain ⟨i, hi⟩ := List.mem_iff_getElem?.1 ha
      rw [(hguard.advanced e he hkind).1, (hguard.accepted i a hi hta).1]
    exact ⟨s, hs, (hnames a ha hta).2 ▸ his, LifecycleEvent.SameAttempt.trans ⟨hrole, htask, hattempt⟩ hsame⟩

/-- The events of one attempt of a projected chain carry one identity exactly when the formal advancement carries that
of the accepted result: this is the one branch that does not compare it. -/
theorem projected_attempts_have_one_identity (host : Host) (plan : LifecyclePlan) (events : List LifecycleEvent)
    (receipt : SealReceipt) (p : LifecycleShadowProjection) (h : projectLifecycleEvents host plan events receipt = .ok p) :
    OneIdentity events ↔ AdvancesAsAccepted events := by
  obtain ⟨⟨hchain, hguard⟩, -⟩ := project_ok h
  constructor
  · intro hone f hf htf a ha hta
    obtain ⟨_, -, -, hnames⟩ := formal_names hchain hguard hf htf
    obtain ⟨-, hid⟩ := hnames a ha hta
    exact (hone f hf a ha (by rw [htf]; decide) (by rw [hta]; decide) hid).2
  · intro hformal a ha b hb hta htb hid
    obtain ⟨s, hs, hisa, hsamea⟩ := same_as_start hchain hguard hformal ha hta
    obtain ⟨s', hs', hisb, hsameb⟩ := same_as_start hchain hguard hformal hb htb
    obtain ⟨_, start, _, _, hsole, -⟩ := hchain.attempts s hs (.inl hisa.1)
    obtain rfl : s = s' := (hsole.eq hs ⟨hisa.1, rfl⟩).trans
      (hsole.eq hs' ⟨hisb.1, hisb.2.trans (hid.symm.trans hisa.2.symm)⟩).symm
    exact hsamea.trans hsameb.symm

open Sample in
theorem projected_attempts_have_one_identity_passed : OneIdentity (passed (digest 4)) := by
  obtain ⟨p, h⟩ := @projected_of_isSome .sample plan (passed (digest 4))
    (receipt (passed (digest 4))) (by decide +kernel)
  refine (projected_attempts_have_one_identity _ _ _ _ p h).2 ?_
  have hall : ∀ f ∈ passed (digest 4), ∀ a ∈ passed (digest 4),
      f.taskIdentity = a.taskIdentity ∧ f.reviewAttempt = a.reviewAttempt := by decide +kernel
  exact fun f hf _ a ha _ => hall f hf a ha

open Sample in
/-- A round advances in the name of the accepted attempt and of the task of another. -/
theorem another_task_advances :
    (∃ p, projectLifecycleEvents .sample plan (passed (digest 40))
      (receipt (passed (digest 40))) = .ok p) ∧ ¬ OneIdentity (passed (digest 40)) := by
  refine ⟨projected_of_isSome (by decide +kernel), fun hone => ?_⟩
  have hdiffers : ∃ a ∈ passed (digest 40), ∃ b ∈ passed (digest 40), a.transition ≠ .candidateMoved ∧
      b.transition ≠ .candidateMoved ∧ a.attemptIdentity = b.attemptIdentity ∧ ¬ a.SameAttempt b := by decide +kernel
  obtain ⟨a, ha, b, hb, hta, htb, hid, hdiffers⟩ := hdiffers
  exact hdiffers (hone a ha b hb hta htb hid)

end Roundwright.Lifecycle
