/-
The transition lease: acquire, renew and release over the single lease row and the generation
counter, and the two guards that compare a lease value with that row.

The calls refine the fencing machine of `Lib.Fencing`: the row is the holder, the counter is the
counter, a same-owner acquisition and a renewal are extensions. Everything said about runs of calls
by any number of owners, with any clocks, is read off that machine.
-/
import Roundwright.Lib.Fencing
import Roundwright.State.Ledger

namespace Roundwright.State

open Lib

/-! ## The calls -/

/-- `_TOKEN` of the Git layer. -/
def isLeaseToken (text : String) : Bool :=
  match text.toList with
  | [] => false
  | c :: cs => c.isAlphanum && cs.all fun c => c.isAlphanum || c ∈ ['.', '_', ':', '/', '-']

/-- `_require_token` -/
def requireToken (value name : String) : Except Error Unit :=
  refuse (isLeaseToken value = false) (.gitIdentity (name ++ " is invalid"))

/-- `_clock` on the reading it was given. -/
def clock (now : Int) : Except Error Int := do
  refuse (now < 0) (.gitIdentity "lease clock is invalid")
  return now

/-- `_state_identity` -/
def stateIdentityOf (l : Ledger) : Except Error String :=
  demand l.stateIdentity (.gitIdentity "repository state identity is unavailable")

/-- The driver's check on an integer bound to a column. -/
def requireStorable (value : Int) : Except Error Unit :=
  refuse (value < -2 ^ 63 ∨ 2 ^ 63 ≤ value) .overflow

/-- `_require_current_lease` -/
def requireCurrentLease (l : Ledger) (lease : TransitionLease) (repositoryId : String) (observed : Int) :
    Except Error Unit := do
  refuse (l.leases.rows.head? ≠ some lease) (.gitIdentity "transition lease ownership has drifted")
  refuse (lease.repositoryId ≠ repositoryId) (.gitIdentity "transition lease does not match the task repository")
  let stateIdentity ← stateIdentityOf l
  refuse (stateIdentity ≠ lease.stateIdentity) (.gitIdentity "transition lease state identity has drifted")
  let now ← clock observed
  refuse (lease.expiresAt ≤ now) (.gitIdentity "transition lease is stale and requires owner recovery")

/-- The generation after the stored one. -/
def nextGeneration : Option Int → Int
  | none => 1
  | some generation => generation + 1

/-- The branch of `acquire_transition_lease` without a lease row. -/
def grantLease (repositoryId stateIdentity owner : String) (expiresAt : Int) : Tx Error Ledger TransitionLease := do
  let generation ← Tx.query fun l => .ok (nextGeneration l.leaseGeneration)
  let lease : TransitionLease := ⟨repositoryId, stateIdentity, owner, generation, expiresAt⟩
  Tx.write fun l => do
    requireStorable generation
    refuse (generation ≤ 0) .integrity
    return { l with leaseGeneration := some generation }
  Tx.write fun l => do
    requireStorable expiresAt
    refuse (expiresAt < 0) .integrity
    let leases ← demand (l.leases.insert? lease) .integrity
    return { l with leases }
  return lease

/-- UPDATE of `expires_at` where the condition holds. -/
def setExpiry (l : Ledger) (p : TransitionLease → Bool) (expiresAt : Int) : Ledger :=
  { l with leases := l.leases.update (fun r => if p r then { r with expiresAt } else r) (TransitionLease.clash_map _) }

/-- The branch of `acquire_transition_lease` on a live row. -/
def extendLease (existing : TransitionLease) (repositoryId stateIdentity owner : String) (observed expiresAt : Int) :
    Tx Error Ledger TransitionLease := do
  Tx.check (refuse (existing.repositoryId ≠ repositoryId ∨ existing.stateIdentity ≠ stateIdentity)
    (.gitIdentity "transition lease identity is unverifiable"))
  Tx.check (refuse (existing.expiresAt ≤ observed)
    (.gitIdentity "transition lease is stale and requires owner recovery"))
  Tx.check (refuse (existing.owner ≠ owner) (.gitIdentity "a conflicting transition lease is active"))
  Tx.write fun l => do
    requireStorable expiresAt
    refuse (expiresAt < 0) .integrity
    return setExpiry l (fun r => r.owner = owner ∧ r.generation = existing.generation) expiresAt
  return ⟨repositoryId, stateIdentity, owner, existing.generation, expiresAt⟩

def acquireTransitionLease (repositoryId owner : String) (ttlSeconds now : Int) : Tx Error Ledger TransitionLease := do
  Tx.check (requireToken repositoryId "repository identity")
  Tx.check (requireToken owner "lease owner")
  Tx.check (refuse (ttlSeconds ≤ 0) (.gitIdentity "lease duration is invalid"))
  let observed ← Tx.check (clock now)
  let stateIdentity ← Tx.query stateIdentityOf
  let row ← Tx.query fun l => .ok l.leases.rows.head?
  match row with
  | none => grantLease repositoryId stateIdentity owner (observed + ttlSeconds)
  | some existing => extendLease existing repositoryId stateIdentity owner observed (observed + ttlSeconds)

def renewTransitionLease (lease : TransitionLease) (ttlSeconds now : Int) : Tx Error Ledger TransitionLease := do
  Tx.check (refuse (ttlSeconds ≤ 0) (.gitIdentity "lease duration is invalid"))
  let observed ← Tx.check (clock now)
  Tx.query fun l => requireCurrentLease l lease lease.repositoryId observed
  Tx.write fun l => do
    requireStorable (observed + ttlSeconds)
    refuse (observed + ttlSeconds < 0) .integrity
    return setExpiry l (fun _ => true) (observed + ttlSeconds)
  return { lease with expiresAt := observed + ttlSeconds }

def releaseTransitionLease (lease : TransitionLease) (now : Int) : Tx Error Ledger Unit := do
  let observed ← Tx.check (clock now)
  Tx.query fun l => requireCurrentLease l lease lease.repositoryId observed
  Tx.write fun l => .ok { l with leases := l.leases.keep fun _ => false }

/-! ## What the calls do to the lease row -/

/-- The lease row and the counter, as the fencing machine sees them. -/
def leaseFence (l : Ledger) : Fencing.Fence TransitionLease := ⟨l.leases.rows.head?, l.leaseGeneration⟩

/-- One lease row at most: any two clash. -/
theorem leases_length_le (l : Ledger) : l.leases.rows.length ≤ 1 := by
  have h := l.leases.unique
  match hl : l.leases.rows with
  | [] => simp
  | [_] => simp
  | a :: b :: _ =>
    rw [hl] at h
    have hab := List.rel_of_pairwise_cons h (List.mem_cons_self ..)
    cases hab

variable {l : Ledger}

variable {lease : TransitionLease}

theorem leases_head (h : l.leases.rows.head? = some lease) : l.leases.rows = [lease] := by
  have hlen := leases_length_le l
  match hl : l.leases.rows with
  | [] => rw [hl] at h; cases h
  | [a] => rw [hl] at h; cases h; rfl
  | a :: b :: rest => rw [hl] at hlen; simp at hlen

theorem requireCurrentLease_row {repositoryId : String} {observed : Int}
    (h : requireCurrentLease l lease repositoryId observed = .ok ()) : l.leases.rows.head? = some lease := by
  simp only [requireCurrentLease, bind_eq_ok, exists_unit, refuse_eq_ok, not_not] at h
  exact h.1

theorem requireCurrentTransitionLease_row {repositoryId : String} {now : Int}
    (h : requireCurrentTransitionLease l (some lease) repositoryId now = .ok ()) :
    l.leases.rows.head? = some lease := by
  simp only [requireCurrentTransitionLease, bind_eq_ok, exists_unit, demand_eq_ok, refuse_eq_ok, not_not] at h
  obtain ⟨a, ha, hrow, -⟩ := h
  cases ha
  exact hrow

theorem leaseFence_setExpiry {p : TransitionLease → Bool} {old : TransitionLease} {expiresAt : Int}
    (h : l.leases.rows.head? = some old) (hp : p old = true) :
    leaseFence (setExpiry l p expiresAt) = ⟨some { old with expiresAt }, l.leaseGeneration⟩ := by
  rw [leaseFence, setExpiry, Table.update_rows, leases_head h]
  simp [hp]

variable {l l' : Ledger}

/-- A successful acquisition grants past the counter when the row is free, else extends the row. -/
theorem acquire_step {repositoryId owner : String} {ttlSeconds now : Int}
    (h : acquireTransitionLease repositoryId owner ttlSeconds now l = (.ok lease, l')) :
    ∃ e, Fencing.Step TransitionLease.generation (leaseFence l) e (leaseFence l') ∧
      e.issued = some lease ∧ e.returned = none := by
  simp only [acquireTransitionLease, Tx.check_bind, Tx.query_bind, exists_unit] at h
  obtain ⟨-, -, -, observed, -, stateIdentity, -, row, hrow, h⟩ := h
  cases hrow
  cases hhead : l.leases.rows.head? with
  | none =>
    have hempty : l.leases.rows = [] := List.head?_eq_none_iff.1 hhead
    simp only [hhead, grantLease, Tx.query_bind, Tx.write_bind, requireStorable, bind_eq_ok, exists_unit, refuse_eq_ok,
      demand_eq_ok, pure_eq_ok, Tx.pure_ok, Except.ok.injEq] at h
    obtain ⟨_, rfl, _, ⟨-, -, rfl⟩, _, ⟨-, -, leases, hins, rfl⟩, rfl, rfl⟩ := h
    have hrows := (Table.insert?_eq_some.1 hins).2
    refine ⟨.granted _, ?_, rfl, rfl⟩
    have hstep : Fencing.Step TransitionLease.generation (leaseFence l)
        (.granted ⟨repositoryId, stateIdentity, owner, nextGeneration l.leaseGeneration, observed + ttlSeconds⟩) _ :=
      .granted hhead fun c hc => by
          have : l.leaseGeneration = some c := hc
          simp [this, nextGeneration]
    simpa [leaseFence, hrows, hempty] using hstep
  | some existing =>
    simp only [hhead, extendLease, Tx.check_bind, Tx.write_bind, requireStorable, bind_eq_ok, exists_unit, pure_eq_ok,
      Tx.pure_ok, refuse_eq_ok, not_or, not_not] at h
    obtain ⟨⟨rfl, rfl⟩, -, rfl, _, ⟨-, -, rfl⟩, rfl, rfl⟩ := h
    refine ⟨.extended existing _, ?_, rfl, rfl⟩
    rw [leaseFence_setExpiry hhead (by simp)]
    exact .extended hhead rfl

theorem renew_step {lease renewed : TransitionLease} {ttlSeconds now : Int}
    (h : renewTransitionLease lease ttlSeconds now l = (.ok renewed, l')) :
    ∃ e, Fencing.Step TransitionLease.generation (leaseFence l) e (leaseFence l') ∧
      e.issued = some renewed ∧ e.returned = none := by
  simp only [renewTransitionLease, Tx.check_bind, Tx.query_bind, Tx.write_bind, requireStorable, bind_eq_ok,
    exists_unit, refuse_eq_ok, pure_eq_ok, Tx.pure_ok] at h
  obtain ⟨-, observed, -, hcur, _, ⟨-, -, rfl⟩, rfl, rfl⟩ := h
  have hhead := requireCurrentLease_row hcur
  refine ⟨.extended lease _, ?_, rfl, rfl⟩
  rw [leaseFence_setExpiry hhead rfl]
  exact .extended hhead rfl

theorem release_step {now : Int} {u : Unit}
    (h : releaseTransitionLease lease now l = (.ok u, l')) :
    Fencing.Step TransitionLease.generation (leaseFence l) (.released lease) (leaseFence l') := by
  simp only [releaseTransitionLease, Tx.check_bind, Tx.query_bind, exists_unit, Tx.write_ok, Except.ok.injEq] at h
  obtain ⟨observed, -, hcur, rfl⟩ := h
  have hstep : Fencing.Step TransitionLease.generation (leaseFence l) (.released lease) _ :=
    .released (requireCurrentLease_row hcur)
  simpa [leaseFence, Table.keep] using hstep

/-! ## Runs of calls -/

inductive LeaseCall where
  | acquire (repositoryId owner : String) (ttlSeconds now : Int)
  | renew (lease : TransitionLease) (ttlSeconds now : Int)
  | release (lease : TransitionLease) (now : Int)

/-- One call in its own transaction, with the lease it hands out. -/
def LeaseCall.run (c : LeaseCall) (l : Ledger) : Except Error (Option TransitionLease) × Ledger :=
  match c with
  | .acquire repositoryId owner ttlSeconds now =>
    (transaction (acquireTransitionLease repositoryId owner ttlSeconds now) l).map (·.map some) id
  | .renew lease ttlSeconds now => (transaction (renewTransitionLease lease ttlSeconds now) l).map (·.map some) id
  | .release lease now => (transaction (releaseTransitionLease lease now) l).map (·.map fun _ => none) id

/-- A call and what it returned. -/
structure LeaseEvent where
  call : LeaseCall
  result : Except Error (Option TransitionLease)

/-- The lease value the call handed out. -/
def LeaseEvent.issued (e : LeaseEvent) : Option TransitionLease :=
  match e.result with
  | .ok lease => lease
  | .error _ => none

/-- The lease value the call gave back. -/
def LeaseEvent.released (e : LeaseEvent) : Option TransitionLease :=
  match e.call, e.result with
  | .release lease _, .ok _ => some lease
  | _, _ => none

/-- Calls by any owners, one transaction after another. -/
inductive LeaseRun : Ledger → List LeaseEvent → Ledger → Prop
  | nil (l : Ledger) : LeaseRun l [] l
  | snoc {l l' : Ledger} {log : List LeaseEvent} (h : LeaseRun l log l') (c : LeaseCall) :
      LeaseRun l (log ++ [⟨c, (c.run l').1⟩]) (c.run l').2

/-- Some guard lets the lease value through. -/
def LeaseAccepted (l : Ledger) (lease : TransitionLease) : Prop :=
  (∃ repositoryId now, requireCurrentLease l lease repositoryId now = .ok ()) ∨
  (∃ repositoryId now, requireCurrentTransitionLease l (some lease) repositoryId now = .ok ())

theorem LeaseAccepted.row (h : LeaseAccepted l lease) : l.leases.rows.head? = some lease := by
  rcases h with ⟨_, _, h⟩ | ⟨_, _, h⟩
  · exact requireCurrentLease_row h
  · exact requireCurrentTransitionLease_row h

theorem LeaseCall.step (c : LeaseCall) (l : Ledger) :
    ∃ e, Fencing.Step TransitionLease.generation (leaseFence l) e (leaseFence (c.run l).2) ∧
      e.issued = LeaseEvent.issued ⟨c, (c.run l).1⟩ ∧ e.returned = LeaseEvent.released ⟨c, (c.run l).1⟩ := by
  cases c with
  | acquire repositoryId owner ttlSeconds now =>
    rcases transaction_cases (acquireTransitionLease repositoryId owner ttlSeconds now) l with
      ⟨lease, l', hb, ht⟩ | ⟨err, -, ht⟩
    · obtain ⟨e, hstep, hi, hr⟩ := acquire_step hb
      refine ⟨e, ?_, ?_, ?_⟩ <;> simp only [LeaseCall.run, ht] <;> assumption
    · exact ⟨.idle, by simp only [LeaseCall.run, ht]; exact .idle _, by simp only [LeaseCall.run, ht]; rfl, rfl⟩
  | renew lease ttlSeconds now =>
    rcases transaction_cases (renewTransitionLease lease ttlSeconds now) l with
      ⟨renewed, l', hb, ht⟩ | ⟨err, -, ht⟩
    · obtain ⟨e, hstep, hi, hr⟩ := renew_step hb
      refine ⟨e, ?_, ?_, ?_⟩ <;> simp only [LeaseCall.run, ht] <;> assumption
    · exact ⟨.idle, by simp only [LeaseCall.run, ht]; exact .idle _, by simp only [LeaseCall.run, ht]; rfl, rfl⟩
  | release lease now =>
    rcases transaction_cases (releaseTransitionLease lease now) l with ⟨u, l', hb, ht⟩ | ⟨err, -, ht⟩
    · refine ⟨.released lease, ?_, ?_, ?_⟩ <;> simp only [LeaseCall.run, ht]
      · exact release_step hb
      · rfl
      · rfl
    · refine ⟨.idle, ?_, ?_, ?_⟩ <;> simp only [LeaseCall.run, ht]
      · exact .idle _
      · rfl
      · rfl

/-- A run of calls refines a run of the fencing machine with the same leases handed out and
given back. -/
theorem LeaseRun.fencing {log : List LeaseEvent} (h : LeaseRun l log l') :
    ∃ es, Fencing.Run TransitionLease.generation (leaseFence l) es (leaseFence l') ∧
      es.filterMap Fencing.Event.issued = log.filterMap LeaseEvent.issued ∧
      es.filterMap Fencing.Event.returned = log.filterMap LeaseEvent.released := by
  induction h with
  | nil => exact ⟨[], .nil _, rfl, rfl⟩
  | snoc _ c ih =>
    obtain ⟨es, hrun, hi, hr⟩ := ih
    obtain ⟨e, hstep, hei, her⟩ := c.step _
    refine ⟨es ++ [e], .snoc hrun hstep, ?_, ?_⟩
    · rw [List.filterMap_append, List.filterMap_append, hi]; simp [List.filterMap_cons, hei]
    · rw [List.filterMap_append, List.filterMap_append, hr]; simp [List.filterMap_cons, her]

theorem LeaseRun.released_last {log : List LeaseEvent} {e : LeaseEvent}
    (h : LeaseRun l (log ++ [e]) l') (he : e.released = some lease) : (leaseFence l').holder = none := by
  generalize hlog : log ++ [e] = all at h
  cases h with
  | nil => simp at hlog
  | snoc hpre c =>
    obtain ⟨-, hlast⟩ := List.append_inj' hlog rfl
    cases hlast
    obtain ⟨f, hstep, -, hr⟩ := c.step _
    exact hstep.returned_free (hr.trans he)

/-! ## Fencing -/

/-- Calls of any owners with any clocks and lifetimes, cut at any point into a past and a future.
There is one lease row at most and the counter never falls; what is issued after a release is newer
than everything issued before it; a released value is never accepted again; a value that is not the
row at the cut is accepted later only when a later call issued that very value again; and two values
accepted in one state are equal. -/
theorem transition_lease_fencing {l₀ l₁ l₂ : Ledger} {past future : List LeaseEvent}
    (hstart : Fencing.Bounded TransitionLease.generation (leaseFence l₀)) (hpast : LeaseRun l₀ past l₁)
    (hfuture : LeaseRun l₁ future l₂) :
    l₂.leases.rows.length ≤ 1 ∧
    (∀ c, l₁.leaseGeneration = some c → ∃ c', l₂.leaseGeneration = some c' ∧ c ≤ c') ∧
    (∀ before e lease, past = before ++ [e] → e.released = some lease →
      ∀ a ∈ past.filterMap LeaseEvent.issued, ∀ b ∈ future.filterMap LeaseEvent.issued,
        a.generation < b.generation) ∧
    (∀ lease ∈ past.filterMap LeaseEvent.released, ¬ LeaseAccepted l₂ lease) ∧
    (∀ lease, l₁.leases.rows.head? ≠ some lease → LeaseAccepted l₂ lease →
      lease ∈ future.filterMap LeaseEvent.issued) ∧
    (∀ a b, LeaseAccepted l₂ a → LeaseAccepted l₂ b → a = b) := by
  obtain ⟨es, hes, hesi, hesr⟩ := hpast.fencing
  obtain ⟨fs, hfs, hfsi, -⟩ := hfuture.fencing
  -- the fencing machine has proved each clause of its own runs
  refine ⟨leases_length_le l₂, fun c hc => hfs.counter_mono hc, ?_, ?_, ?_, ?_⟩
  · rintro before e lease rfl he a ha b hb
    rw [← hesi] at ha
    rw [← hfsi] at hb
    obtain ⟨c, hc, hle⟩ := hes.issued_le hstart ha
    have hfree := hpast.released_last he
    have hspent : Fencing.Spent TransitionLease.generation c (leaseFence l₁) :=
      ⟨⟨c, hc, le_rfl⟩, fun x hx => by rw [hfree] at hx; cases hx⟩
    exact lt_of_le_of_lt hle (hfs.issued_past hspent hb)
  · intro lease hlease hacc
    rw [← hesr] at hlease
    have hspent := hfs.spent (hes.returned_spent hstart hlease)
    exact lt_irrefl _ (hspent.2 lease hacc.row)
  · intro lease hne hacc
    rw [← hfsi]
    exact (hfs.held_from hacc.row).resolve_left hne
  · intro a b ha hb
    exact Option.some.inj (ha.row.symm.trans hb.row)

/-- One owner acquires, and another acquires after the release. -/
theorem transition_lease_fencing_two_owners :
    let l₀ := Ledger.initial "state"
    let acquire : LeaseCall := .acquire "repository" "first" 100 0
    let l₁ := (acquire.run l₀).2
    let lease : TransitionLease := ⟨"repository", "state", "first", 3, 100⟩
    let release : LeaseCall := .release lease 50
    let l₂ := (release.run l₁).2
    let again : LeaseCall := .acquire "repository" "second" 100 50
    LeaseAccepted l₁ lease ∧ ¬ LeaseAccepted (again.run l₂).2 lease := by
  intro l₀ acquire l₁ lease release l₂ again
  have hacc : requireCurrentLease l₁ lease "repository" 50 = .ok () := by decide +kernel
  have hrel : LeaseEvent.released ⟨release, (release.run l₁).1⟩ = some lease := by decide +kernel
  refine ⟨.inl ⟨_, _, hacc⟩, ?_⟩
  have hpast : LeaseRun l₀ [⟨acquire, (acquire.run l₀).1⟩, ⟨release, (release.run l₁).1⟩] l₂ :=
    .snoc (.snoc (.nil l₀) acquire) release
  have hfuture : LeaseRun l₂ [⟨again, (again.run l₂).1⟩] (again.run l₂).2 := .snoc (.nil l₂) again
  refine (transition_lease_fencing ?_ hpast hfuture).2.2.2.1 lease ?_
  · intro x hx; cases hx
  · exact List.mem_filterMap.2 ⟨_, List.mem_cons_of_mem _ (List.mem_cons_self ..), hrel⟩

/-- A lease renewed to another expiry is accepted again once a second renewal puts its expiry back. -/
theorem renewed_lease_accepted_again :
    let l₀ := Ledger.initial "state"
    let lease : TransitionLease := ⟨"repository", "state", "owner", 3, 100⟩
    let renewed : TransitionLease := { lease with expiresAt := 200 }
    let acquire : LeaseCall := .acquire "repository" "owner" 100 0
    let renew : LeaseCall := .renew lease 200 0
    let restore : LeaseCall := .renew renewed 100 0
    let l₁ := (acquire.run l₀).2
    let l₂ := (renew.run l₁).2
    let l₃ := (restore.run l₂).2
    (acquire.run l₀).1 = .ok (some lease) ∧ (renew.run l₁).1 = .ok (some renewed) ∧
      lease.expiresAt ≠ renewed.expiresAt ∧ requireCurrentLease l₂ lease "repository" 0 ≠ .ok () ∧
      requireCurrentLease l₃ lease "repository" 0 = .ok () ∧
      requireCurrentTransitionLease l₃ (some lease) "repository" 0 = .ok () := by
  decide +kernel

end Roundwright.State
